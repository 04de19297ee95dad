import Rowbind.Rows.Source

/-!
# Rows that fail on purpose

To see what becomes of a scan whose rows fail, rows in memory are given faults: the columns cannot
be read, closing fails after it has closed, or one chosen advance or one chosen taking of values
fails and leaves the rows where they were. Every closing is counted.
-/

namespace Rowbind

/-- **The faults of rows.** Advances and takings are counted from zero. -/
structure RowFaults where
  columns : Option Error := none
  close : Option Error := none
  advance : Option (Nat × Error) := none
  take : Option (Nat × Error) := none
  deriving DecidableEq, Repr

/-- **Rows in memory with faults.** -/
structure FaultyRows where
  rows : BufferedRows
  faults : RowFaults
  advances : Nat := 0
  takings : Nat := 0
  /-- How many times the rows were closed. -/
  closings : Nat := 0

namespace FaultyRows

/-- The fault of the call with a number, if it is the chosen one. -/
def chosen (fault : Option (Nat × Error)) (call : Nat) : Option Error :=
  fault.bind fun (n, e) => if n = call then some e else none

def columnNames : Step FaultyRows (List String) := fun f =>
  match f.faults.columns with
  | some e => (.error e, f)
  | none =>
    let (answer, rows) := f.rows.columnNames
    (answer, { f with rows := rows })

def advance : Step FaultyRows Bool := fun f =>
  match chosen f.faults.advance f.advances with
  | some e => (.error e, { f with advances := f.advances + 1 })
  | none =>
    let answer := f.rows.advance
    (answer.1, { f with rows := answer.2, advances := f.advances + 1 })

def take : Step FaultyRows (List Value) := fun f =>
  match chosen f.faults.take f.takings with
  | some e => (.error e, { f with takings := f.takings + 1 })
  | none =>
    let answer := f.rows.take
    (answer.1, { f with rows := answer.2, takings := f.takings + 1 })

def close : Step FaultyRows Unit := fun f =>
  let closed := { f with rows := f.rows.close.2, closings := f.closings + 1 }
  match f.faults.close with
  | some e => (.error e, closed)
  | none => (.ok (), closed)

theorem length_advance {f f' : FaultyRows} (h : advance f = (.ok true, f')) :
    f'.rows.rows.length < f.rows.rows.length := by
  unfold advance at h
  split at h
  · simp at h
  · have hanswer := (Prod.mk.inj h).1
    have hstate := (Prod.mk.inj h).2
    subst hstate
    exact BufferedRows.length_advance (Prod.ext hanswer rfl)

theorem length_take {f f' : FaultyRows} {vs : List Value} (h : take f = (.ok vs, f')) :
    f'.rows.rows.length ≤ f.rows.rows.length := by
  unfold take at h
  split at h
  · simp at h
  · have hanswer := (Prod.mk.inj h).1
    have hstate := (Prod.mk.inj h).2
    subst hstate
    exact Nat.le_of_eq (BufferedRows.length_take (Prod.ext hanswer rfl))

instance : RowSource FaultyRows where
  columns := columnNames
  advance := advance
  take := take
  close := close
  remaining f := f.rows.rows.length
  remaining_advance _ _ h := length_advance h
  remaining_take _ _ _ h := length_take h

end FaultyRows

end Rowbind
