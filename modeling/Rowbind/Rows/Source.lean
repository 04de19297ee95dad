import Rowbind.Step
import Rowbind.Value

/-!
# Row sources

A **row source** hands out the rows of a result, one after the other, and never back. Advancing to a
row, taking its values and closing the source may each fail, and each may leave the source in
another state; what a source does is for it to say.

One thing every source owes: it ends. `remaining` bounds the rows it can still advance to, an
advance to a row lowers it, and taking a row's values does not raise it.
-/

namespace Rowbind

/-- **A source of rows.** -/
class RowSource (ρ : Type) where
  /-- The names of the columns, in order. -/
  columns : Step ρ (List String)
  /-- Goes on to the next row, and says whether there is one. -/
  advance : Step ρ Bool
  /-- The values of the current row, in the order of the columns. -/
  take : Step ρ (List Value)
  /-- Releases the source. -/
  close : Step ρ Unit
  /-- A bound on the rows to come. -/
  remaining : ρ → Nat
  remaining_advance : ∀ r r', advance r = (.ok true, r') → remaining r' < remaining r
  remaining_take : ∀ r vs r', take r = (.ok vs, r') → remaining r' ≤ remaining r

/-- **Rows held in memory.** Closing lets go of them; the columns cannot be asked for after. -/
structure BufferedRows where
  columns : List String
  rows : List (List Value)
  current : Option (List Value) := none
  closed : Bool := false

namespace BufferedRows

def columnNames : Step BufferedRows (List String) := fun b =>
  if b.closed then (.error (.usage .rowsClosed), b) else (.ok b.columns, b)

def advance : Step BufferedRows Bool := fun b =>
  if b.closed then (.ok false, b)
  else
    match b.rows with
    | [] => (.ok false, { b with current := none })
    | row :: rows => (.ok true, { b with current := some row, rows := rows })

def take : Step BufferedRows (List Value) := fun b =>
  match b.current with
  | some row => (.ok row, { b with current := none })
  | none => (.error (.usage .noCurrentRow), b)

def close : Step BufferedRows Unit := fun b =>
  (.ok (), { b with rows := [], current := none, closed := true })

theorem length_advance {b b' : BufferedRows} (h : advance b = (.ok true, b')) :
    b'.rows.length < b.rows.length := by
  unfold advance at h
  split at h
  · simp at h
  · split at h
    · simp at h
    · rename_i row rows hr
      obtain ⟨_, rfl⟩ := Prod.mk.inj h
      simp [hr]

theorem length_take {b b' : BufferedRows} {vs : List Value} (h : take b = (.ok vs, b')) :
    b'.rows.length = b.rows.length := by
  unfold take at h
  split at h
  · obtain ⟨_, rfl⟩ := Prod.mk.inj h
    rfl
  · simp at h

instance : RowSource BufferedRows where
  columns := columnNames
  advance := advance
  take := take
  close := close
  remaining b := b.rows.length
  remaining_advance _ _ h := length_advance h
  remaining_take _ _ _ h := Nat.le_of_eq (length_take h)

end BufferedRows

end Rowbind
