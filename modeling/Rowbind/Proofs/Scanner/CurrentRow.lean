import Rowbind.Proofs.Scanner.History

/-!
# A failed advance leaves the flag for the current row

The flag that a scanner keeps for its current row is set from the answer of an advance. An advance
that fails has no such answer, and the flag stays as it was: where a row was there and not taken,
its values can be asked for still, though the source has failed to go on from it.

So a run asks for values of the row that its latest advance found, and of no other, exactly where no
row is stored in between: after a failed advance, behind a row that was found before and left
(`ScannerUse.values_of_found_iff`).
-/

namespace Rowbind

namespace ScannerUse

variable {ρ : Type} [RowSource ρ] {c : Catalog}

/-- **Whether a use fails to go on to the next row.** -/
def FailsToAdvance (s : Scanner ρ) (u : ScannerUse) : Prop :=
  u = .advance ∧ ∃ e, s.advance.1 = .error e

/-- Whether a use is no advance. -/
def NoAdvance (_ : Scanner ρ) (u : ScannerUse) : Prop := u ≠ .advance

/-- Whether a use is no advance, and takes no row. -/
def NoAdvanceNorTaking (c : Catalog) (s : Scanner (Recorded ρ)) (u : ScannerUse) : Prop :=
  u ≠ .advance ∧ ¬ u.TakesRow c s

variable {s : Scanner (Recorded ρ)} {uses : List ScannerUse}

/-- **Where a found row is left, the latest advance is the one that found it, or it failed.** The
induction is on the last use. -/
theorem since_found_or_failed (h : Since c FindsRow (LeavesRow c) s uses) :
    Since c FindsRow (NoAdvanceNorTaking c) s uses ∨ Since c FailsToAdvance NoAdvance s uses := by
  induction uses using List.reverseRecOn with
  | nil => exact absurd h not_since_nil
  | append_singleton uses u ih =>
    rw [since_concat, since_concat]
    rcases since_concat.mp h with hfinds | ⟨hsince, hleaves⟩
    · exact .inl (.inl hfinds)
    · by_cases hadvance : u = .advance
      · cases hanswer : (runAll c s uses).advance.1 with
        | error e => exact .inr (.inl ⟨hadvance, e, hanswer⟩)
        | ok found =>
          cases found with
          | true => exact .inl (.inl ⟨hadvance, hanswer⟩)
          | false => exact absurd hanswer (hleaves.notPast hadvance)
      · rcases ih hsince with hfound | hfailed
        · exact .inl (.inr ⟨hfound, hadvance, hleaves.untaken⟩)
        · exact .inr (.inr ⟨hfailed, hadvance⟩)

/-- The latest advance did not both find a row and fail. -/
theorem not_failed_of_found (h : Since c FindsRow (NoAdvanceNorTaking c) s uses) :
    ¬ Since c FailsToAdvance NoAdvance s uses := by
  induction uses using List.reverseRecOn with
  | nil => exact not_since_nil
  | append_singleton uses u ih =>
    intro hfailed
    rcases since_concat.mp h with ⟨hadvance, hfinds⟩ | ⟨hfound, hnot, -⟩
    · rcases since_concat.mp hfailed with ⟨-, e, hfails⟩ | ⟨-, hnot⟩
      · cases hfinds.symm.trans hfails
      · exact hnot hadvance
    · rcases since_concat.mp hfailed with ⟨hadvance, -⟩ | ⟨hfailed, -⟩
      · exact hnot hadvance
      · exact ih hfound hfailed

end ScannerUse

/-- **A run asks for the values of the row that its latest advance found, and of no other, but where
a row is stored after a failed advance.** For every source and every run of uses of a scanner newly
made: whenever values are asked for in storing a row, the latest advance found a row that was not
taken since, exactly if no row is stored, into a destination that the columns are mapped to, where a
row was found before and left, and the latest advance failed. -/
theorem ScannerUse.values_of_found_iff {ρ : Type} [RowSource ρ] (c : Catalog) (rows : ρ)
    (o : Options) (single : Bool) (uses : List ScannerUse) :
    let start := Scanner.start rows o single
    (∀ before d after, uses = before ++ .scanRow d :: after →
        (∃ answer, .take answer ∈ (ScannerUse.scanRow d).calls c (runAll c start before)) →
        Since c FindsRow (NoAdvanceNorTaking c) start before) ↔
      ∀ before d after, uses = before ++ .scanRow d :: after →
        Since c FindsRow (LeavesRow c) start before →
        Since c FailsToAdvance NoAdvance start before →
        ∀ columns plan, ¬ (runAll c start before).Mapped c d columns plan := by
  intro start
  have hflag (before : List ScannerUse) :
      (runAll c start before).hasRow = true ↔ Since c FindsRow (LeavesRow c) start before :=
    hasRow_iff_since c rows o single before
  constructor
  · intro hclaim before d after hsplit hleft hfailed columns plan hmapped
    have hstart : start.RowByHand := nofun
    have hrow := (hflag before).mpr hleft
    have hmanual := (hstart.runAll c before hrow).1
    have hasked := (Scanner.asksValues_scanRow_iff c (runAll c start before) d).mpr
      ⟨hmanual, hrow, columns, plan, hmapped⟩
    exact not_failed_of_found (hclaim before d after hsplit hasked) hfailed
  · intro hnone before d after hsplit hasked
    obtain ⟨-, hrow, columns, plan, hmapped⟩ :=
      (Scanner.asksValues_scanRow_iff c (runAll c start before) d).mp hasked
    have hleft := (hflag before).mp hrow
    refine (since_found_or_failed hleft).resolve_right fun hfailed => ?_
    exact hnone before d after hsplit hleft hfailed columns plan hmapped

/-- Two rows, and an advance that fails behind the first. The row is stored after it all the same,
though the latest advance has found none. -/
theorem ScannerUse.row_stored_after_failed_advance :
    let c := Catalog.ofDeclarations #[] fun _ name => name
    let rows : FaultyRows :=
      { rows := { columns := ["id"], rows := [[.int 1], [.int 2]] }
        faults := { advance := some (1, .driver "broken") } }
    let start := Scanner.start rows {} false
    let number := Destination.scalar (.blank (.int ⟨true, .w64⟩))
    let s := runAll c start [.advance, .advance]
    (runAll c start [.advance]).advance.1 = .error (.driver "broken") ∧
      (Scanner.scanRow c (s, number)).1 = .ok () ∧
      (Scanner.scanRow c (s, number)).2.2 = .scalar ⟨.int ⟨true, .w64⟩, ⟨1, by decide⟩⟩ ∧
      ¬ ∀ before d after, [.advance, .advance, .scanRow number] = before ++ .scanRow d :: after →
        (∃ answer, .take answer ∈ (ScannerUse.scanRow d).calls c (runAll c start before)) →
        Since c FindsRow (NoAdvanceNorTaking c) start before := by
  intro c rows start number s
  have hfails : (runAll c start [.advance]).advance.1 = .error (.driver "broken") := rfl
  refine ⟨hfails, rfl, rfl, fun hclaim => ?_⟩
  have hasked : .take (.ok [.int 1]) ∈ (ScannerUse.scanRow number).calls c s :=
    List.mem_cons_self
  have hfound := hclaim [.advance, .advance] number [] rfl ⟨_, hasked⟩
  have hlast : Since c FindsRow (NoAdvanceNorTaking c) start ([.advance] ++ [.advance]) := hfound
  rcases since_concat.mp hlast with ⟨-, hfinds⟩ | ⟨-, hnot, -⟩
  · cases hfinds.symm.trans hfails
  · exact hnot rfl

end Rowbind
